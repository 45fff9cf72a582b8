import ScriptRoster.Text.Utf8

/-!
# Faults in JSON texts

Where reading a JSON text fails, and why. A fault keeps the rest of the text it was found at; its
line and column are counted in bytes from there.
-/

namespace ScriptRoster.Json

open Text

/-- Why a text is refused. -/
inductive Cause where
  | endInValue
  | endInList
  | endInObject
  | endInString
  | noColon
  | noCommaInList
  | noCommaInObject
  | noWord
  | noValue
  | badEscape
  | badNumber
  | tooGreat
  | controlCharacter
  | keyNotString
  | loneSurrogate
  | trailingComma
  | trailingText
  | cutEscape
  | wrongType (found expected : String)
  | missingField (name : String)
  | repeatedField (name : String)
  | wrongLength (length : Nat) (expected : String)
  deriving DecidableEq, Repr

def Cause.message : Cause → String
  | .endInValue => "EOF while parsing a value"
  | .endInList => "EOF while parsing a list"
  | .endInObject => "EOF while parsing an object"
  | .endInString => "EOF while parsing a string"
  | .noColon => "expected \x60:\x60"
  | .noCommaInList => "expected \x60,\x60 or \x60]\x60"
  | .noCommaInObject => "expected \x60,\x60 or \x60\x7d\x60"
  | .noWord => "expected ident"
  | .noValue => "expected value"
  | .badEscape => "invalid escape"
  | .badNumber => "invalid number"
  | .tooGreat => "number out of range"
  | .controlCharacter =>
      "control character (\\u0000-\\u001F) found while parsing a string"
  | .keyNotString => "key must be a string"
  | .loneSurrogate => "lone leading surrogate in hex escape"
  | .trailingComma => "trailing comma"
  | .trailingText => "trailing characters"
  | .cutEscape => "unexpected end of hex escape"
  | .wrongType found expected => "invalid type: " ++ found ++ ", expected " ++ expected
  | .missingField name => "missing field \x60" ++ name ++ "\x60"
  | .repeatedField name => "duplicate field \x60" ++ name ++ "\x60"
  | .wrongLength length expected =>
      "invalid length " ++ toString length ++ ", expected " ++ expected

/-- A cause and its place: `ahead` bytes into `rest`, or at the end of the text if that is
nearer. -/
structure Fault where
  cause : Cause
  rest : List Char
  ahead : Nat
  deriving DecidableEq, Repr

/-- A fault found at the start of `rest`. -/
def fail {α : Type} (cause : Cause) (rest : List Char) : Except Fault α := .error ⟨cause, rest, 0⟩

/-- A fault of the first character of `rest`. -/
def failNext {α : Type} (cause : Cause) (rest : List Char) : Except Fault α :=
  .error ⟨cause, rest, 1⟩

/-- The line and column after bytes: lines are counted from one, a line break begins a line whose
column is zero. -/
def advance : Nat × Nat → Text.Bytes → Nat × Nat
  | at_, [] => at_
  | (line, column), b :: rest =>
      advance (if b = 0x0a then (line + 1, 0) else (line, column + 1)) rest

/-- The line and column of a fault in a text. -/
def Fault.position (source : String) (fault : Fault) : Nat × Nat :=
  let bytes := Text.encode source
  advance (1, 0) (bytes.take (bytes.length - byteLength fault.rest + fault.ahead))

/-- A fault in a text as a message. -/
def Fault.message (source : String) (fault : Fault) : String :=
  let place := fault.position source
  fault.cause.message ++ " at line " ++ toString place.1 ++ " column " ++ toString place.2

end ScriptRoster.Json
