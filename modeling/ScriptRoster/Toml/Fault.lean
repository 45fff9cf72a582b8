import ScriptRoster.Text.Utf8

/-!
# Faults in TOML texts

Where a TOML text goes wrong, and why. A fault covers a range of bytes; it is shown with the line it
is found on and marks below the range.
-/

namespace ScriptRoster.Toml

/-- The four kinds of quoted text. -/
inductive Quoting where
  | literal
  | basic
  | literalBlock
  | basicBlock
  deriving DecidableEq, Repr

/-- The characters a quoted text stands between. -/
def Quoting.mark : Quoting → String
  | .literal => "'"
  | .basic => "\""
  | .literalBlock => "'''"
  | .basicBlock => "\"\"\""

def Quoting.name : Quoting → String
  | .literal => "literal string"
  | .basic => "basic string"
  | .literalBlock => "multi-line literal string"
  | .basicBlock => "multi-line basic string"

/-- The quote that opens and closes a text. -/
def Quoting.quote : Quoting → String
  | .literal => "'"
  | .basic => "\""
  | .literalBlock => "'"
  | .basicBlock => "\""

/-- The characters that a quoted text may hold. -/
def Quoting.allowed : Quoting → List String
  | .literal => ["non-single-quote visible characters"]
  | .basic => ["non-double-quote visible characters", "\x60\\\x60"]
  | .literalBlock => ["non-single-quote characters"]
  | .basicBlock => ["non-double-quote characters", "\x60\\\x60"]

/-- The bases that a whole number may be written in. -/
inductive Radix where
  | decimal
  | hexadecimal
  | octal
  | binary
  deriving DecidableEq, Repr

def Radix.name : Radix → String
  | .decimal => "integer number"
  | .hexadecimal => "hexadecimal number"
  | .octal => "octal number"
  | .binary => "binary number"

def Radix.start : Radix → String
  | .decimal => ""
  | .hexadecimal => "0x"
  | .octal => "0o"
  | .binary => "0b"

def Radix.base : Radix → Nat
  | .decimal => 10
  | .hexadecimal => 16
  | .octal => 8
  | .binary => 2

/-- What has to come next in an inline table. -/
inductive Due where
  | key
  | equals
  | value
  | comma
  deriving DecidableEq, Repr

/-- Why a text is refused. -/
inductive Cause where
  | noValue
  | noValueAfterDot
  | strayItem
  | noKey
  | noTableKey
  | noTableOpening
  | unclosedTable
  | unclosedTables
  | halfClosedTables
  | extraEquals
  | noBraceOpening
  | noBracketOpening
  | extraCommaInArray
  | equalsInArray
  | noCommaInArray
  | unclosedArray
  | extraCommaInBraces (due : Due)
  | noCommaInBraces (due : Due)
  | noKeyInBraces (due : Due)
  | noEqualsInBraces (due : Due)
  | noValueInBraces (due : Due)
  | extraEqualsInBraces (due : Due)
  | unclosedBraces
  | tooDeep
  | tooLong
  | bareReturn
  | badComment
  | emptyKey
  | badKey
  | blockKey (quoting : Quoting)
  | unquoted
  | noOpeningQuote (mark : String)
  | unclosedQuote (quoting : Quoting)
  | badCharacter (quoting : Quoting)
  | noEscape
  | shortEscape
  | badEscape
  | noEscapedLineEnd
  | redundantSign
  | signedRadix
  | badSign
  | capitalRadix (radix : Radix)
  | redundantRadix
  | leadingZero
  | badUnderscore
  | noDigits (part : String)
  | badFloat
  | badDigit (radix : Radix)
  | badBoolean (word : String)
  | badFloatWord (word : String)
  | badDatetime (reason : String)
  | repeatedKey
  | cannotExtend (type : String)
  | wrongType (found expected : String)
  | wrongValue (found expected : String)
  | unknownVariant (found : String) (known : List String)
  | noVariant
  | notOneVariant (count : String)
  | variantNotEmpty (type : String)
  | variantNotTable (type : String)
  | wholeOverflow
  | floatOverflow
  deriving DecidableEq, Repr

/-- A word between backticks. -/
def ticked (s : String) : String := "\x60" ++ s ++ "\x60"

/-- A description and what was expected in its stead. -/
def wants (what : String) (expected : List String) : String :=
  what ++ ", expected " ++ if expected.isEmpty then "nothing" else ", ".intercalate expected

/-- How that which has to come next is called in messages. -/
def Due.expected : Due → List String
  | .key => ["key"]
  | .equals => [ticked "="]
  | .value => ["value"]
  | .comma => [ticked ","]

/-- The variants of a choice as they are listed in messages. -/
def listed : List String → String
  | [] => "there are no variants"
  | [a] => "expected " ++ ticked a
  | [a, b] => "expected " ++ ticked a ++ " or " ++ ticked b
  | many => "expected one of " ++ ", ".intercalate (many.map ticked)

def Cause.message : Cause → String
  | .noValue => wants "key with no value" [ticked "="]
  | .noValueAfterDot => wants "missing value for key" [ticked "="]
  | .strayItem => wants "unexpected key or value" ["newline", ticked "#"]
  | .noKey => wants "invalid key-value pair" ["key"]
  | .noTableKey => wants "invalid table" ["key"]
  | .noTableOpening => wants "missing table open" [ticked "["]
  | .unclosedTable => wants "unclosed table" [ticked "]"]
  | .unclosedTables => wants "unclosed array table" [ticked "]]"]
  | .halfClosedTables => wants "unclosed array table" [ticked "]"]
  | .extraEquals => wants ("extra " ++ ticked "=") []
  | .noBraceOpening => wants "missing inline table opening" [ticked "\x7b"]
  | .noBracketOpening => wants "missing array opening" [ticked "["]
  | .extraCommaInArray => wants "extra comma in array" ["value"]
  | .equalsInArray => wants ("unexpected " ++ ticked "=" ++ " in array") ["value", ticked "]"]
  | .noCommaInArray => wants "missing comma between array elements" [ticked ","]
  | .unclosedArray => wants "unclosed array" [ticked "]"]
  | .extraCommaInBraces due => wants "extra comma in inline table" due.expected
  | .noCommaInBraces due => wants "missing comma between key-value pairs" due.expected
  | .noKeyInBraces due => wants "missing key for inline table element" due.expected
  | .noEqualsInBraces due => wants "missing assignment between key-value pairs" due.expected
  | .noValueInBraces due => wants "missing value for inline table element" due.expected
  | .extraEqualsInBraces due => wants "extra assignment between key-value pairs" due.expected
  | .unclosedBraces => wants "unclosed inline table" [ticked "\x7d"]
  | .tooDeep => "cannot recurse further; max recursion depth met"
  | .tooLong => "recursion limit"
  | .bareReturn => wants "carriage return must be followed by newline" ["newline"]
  | .badComment => wants "invalid comment character" ["printable characters"]
  | .emptyKey =>
      wants "unquoted keys cannot be empty" ["letters", "numbers", ticked "-", ticked "_"]
  | .badKey => wants "invalid unquoted key" ["letters", "numbers", ticked "-", ticked "_"]
  | .blockKey quoting =>
      wants ("keys cannot be " ++ quoting.name ++ "s") [Quoting.basic.name, Quoting.literal.name]
  | .unquoted => wants "string values must be quoted" ["literal string"]
  | .noOpeningQuote mark => wants "missing opening quote" [ticked mark]
  | .unclosedQuote quoting => wants ("invalid " ++ quoting.name) [ticked quoting.quote]
  | .badCharacter quoting => wants ("invalid " ++ quoting.name) quoting.allowed
  | .noEscape =>
      wants "missing escaped value"
        (["b", "e", "f", "n", "r", "\\", "\"", "x", "u", "U"].map ticked)
  | .shortEscape => wants "too few unicode value digits" ["unicode hexadecimal value"]
  | .badEscape => wants "invalid value" ["unicode hexadecimal value"]
  | .noEscapedLineEnd => wants "invalid multi-line basic string" ["newline"]
  | .redundantSign => wants "redundant numeric sign" []
  | .signedRadix => wants "integers with a radix cannot be signed" []
  | .badSign => wants "unexpected sign" []
  | .capitalRadix radix => wants "radix must be lowercase" [ticked radix.start]
  | .redundantRadix => wants "redundant integer number prefix" []
  | .leadingZero => wants "unexpected leading zero" []
  | .badUnderscore => wants (ticked "_" ++ " may only go between digits") []
  | .noDigits part => wants ("invalid " ++ part) ["digits"]
  | .badFloat => wants "invalid float" []
  | .badDigit radix => "invalid " ++ radix.name
  | .badBoolean word => wants "invalid boolean" [ticked word]
  | .badFloatWord word => wants "invalid float" [ticked word]
  | .badDatetime reason => reason
  | .repeatedKey => "duplicate key"
  | .cannotExtend type => "cannot extend value of type " ++ type ++ " with a dotted key"
  | .wrongType found expected => "invalid type: " ++ found ++ ", expected " ++ expected
  | .wrongValue found expected => "invalid value: " ++ found ++ ", expected " ++ expected
  | .unknownVariant found known =>
      "unknown variant " ++ ticked found ++ ", " ++ listed known
  | .noVariant => "wanted string or table"
  | .notOneVariant count => "wanted exactly 1 element, " ++ count
  | .variantNotEmpty type => "expected empty " ++ type
  | .variantNotTable type => "expected table, found " ++ type
  | .wholeOverflow => "integer number overflowed"
  | .floatOverflow => "floating-point number overflowed"

/-- Bytes of a text, from `start` to before `stop`. -/
structure Range where
  start : Nat
  stop : Nat
  deriving DecidableEq, Repr

/-- A cause and the bytes it is found at; some causes have no place. -/
structure Fault where
  cause : Cause
  range : Option Range
  deriving DecidableEq, Repr

/-- A fault over a range of bytes. -/
def failOver {α : Type} (cause : Cause) (start stop : Nat) : Except Fault α :=
  .error ⟨cause, some ⟨start, stop⟩⟩

/-- A fault between two bytes. -/
def failAt {α : Type} (cause : Cause) (place : Nat) : Except Fault α := failOver cause place place

/-- A fault without a place. -/
def failNowhere {α : Type} (cause : Cause) : Except Fault α := .error ⟨cause, none⟩

/-- The byte that ends a line. -/
def lineEnd : UInt8 := 0x0a

/-- The bytes that follow the last line end. -/
def lastLine (bytes : Text.Bytes) : Text.Bytes :=
  (bytes.reverse.takeWhile (· != lineEnd)).reverse

/-- The line and column of a byte, both counted from zero. The column counts characters unless the
byte is in the middle of one, and goes on past the end of the text. -/
def place (bytes : Text.Bytes) (index : Nat) : Nat × Nat :=
  if bytes.isEmpty then (0, index)
  else
    let safe := min index (bytes.length - 1)
    let before := bytes.take safe
    let line := before.count lineEnd
    let start := safe - (lastLine before).length
    let column :=
      match Text.decode? ((bytes.drop start).take (safe + 1 - start)) with
      | some s => s.length - 1
      | none => safe - start
    (line, column + (index - safe))

/-- The lines of a text. -/
def lines : List Char → List (List Char)
  | [] => [[]]
  | c :: rest =>
      if c = '\n' then [] :: lines rest
      else
        match lines rest with
        | line :: more => (c :: line) :: more
        | [] => [[c]]

def spaces (n : Nat) : String := String.ofList (List.replicate n ' ')

/-- A range of a text as it is shown: the place, the line, and marks below the range. -/
def Range.shown (source : String) (range : Range) : String :=
  let (line, column) := place (Text.encode source) range.start
  let content := (lines source.toList)[line]?.getD []
  let number := toString (line + 1)
  let margin := spaces (number.length + 1) ++ "|"
  let width := min (range.stop - range.start) (Text.byteLength content - column)
  "TOML parse error at line " ++ number ++ ", column " ++ toString (column + 1) ++ "\n"
    ++ margin ++ "\n"
    ++ number ++ " | " ++ String.ofList content ++ "\n"
    ++ margin ++ spaces (column + 1) ++ String.ofList (List.replicate (max 1 width) '^') ++ "\n"

/-- A fault in a text as a message: where it is, if it has a place, and the cause. -/
def Fault.message (source : String) (fault : Fault) : String :=
  ((fault.range.map fun range => range.shown source).getD "") ++ fault.cause.message ++ "\n"

end ScriptRoster.Toml
