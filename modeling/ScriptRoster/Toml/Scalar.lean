import ScriptRoster.Decimal.Reading
import ScriptRoster.Toml.Datetime
import ScriptRoster.Toml.Quoted

/-!
# Scalars in TOML

What a single value says: a text, a truth value, a date, a whole number or a floating-point number.
A whole number is kept whatever its size.
-/

namespace ScriptRoster.Toml

/-- A single value. A whole number without digits is no number. -/
inductive Scalar where
  | text (s : String)
  | boolean (b : Bool)
  | datetime
  | whole (n : Option Int)
  | floating (digits : List Char)
  deriving DecidableEq, Repr

def isDigit (c : Char) : Bool := '0' ≤ c && c ≤ '9'

/-- The value of digits in a base. -/
def digitsValue? (base : Nat) (digits : List Char) : Option Nat :=
  if digits.isEmpty then none
  else
    digits.foldl
      (fun n c => n.bind fun n => (hexValue? c).bind fun d =>
        if d < base then some (n * base + d) else none)
      (some 0)

/-- The whole number that a text with an optional sign stands for. -/
def wholeValue? (base : Nat) (s : List Char) : Option Int :=
  match s with
  | '-' :: digits => (digitsValue? base digits).map fun n => -(n : Int)
  | '+' :: digits => (digitsValue? base digits).map fun n => (n : Int)
  | digits => (digitsValue? base digits).map fun n => (n : Int)

/-- Checks the parts of a number that stand between underscores, the first of which begins at a
byte: each begins with a digit, unless it begins the value, and ends with one, unless it ends the
value. -/
def checkParts (isDigit : Char → Bool) (raw : Raw) (place : Nat) :
    List (List Char) → Except Fault Unit
  | [] => .ok ()
  | part :: rest =>
      let stop := place + Text.byteLength part
      if raw.start < place && part.head?.any (fun c => !isDigit c) then
        failOver .badUnderscore (place - 1) place
      else if 1 < part.length && stop < raw.stop && part.getLast?.any (fun c => !isDigit c) then
        failOver .badUnderscore stop (stop + 1)
      else if part.isEmpty && place != raw.start && stop != raw.stop then
        failOver .badUnderscore place (place + 1)
      else checkParts isDigit raw (stop + 1) rest

/-- Checks that underscores go between digits in a number that begins at a byte. -/
def checkUnderscores (isDigit : Char → Bool) (raw : Raw) (place : Nat) (s : List Char) :
    Except Fault Unit :=
  if !s.contains '_' then .ok ()
  else if s.head? = some '_' then failOver .badUnderscore place (place + 1)
  else if s.getLast? = some '_' then failOver .badUnderscore (raw.stop - 1) raw.stop
  else checkParts isDigit raw place (s.splitOn '_')

def withoutUnderscores (s : List Char) : List Char := s.filter (· != '_')

/-- Whether a character is a digit in one of the bases. -/
def isAnyDigit (c : Char) : Bool := (hexValue? c).isSome

/-- A value that is no text and nothing else either. -/
def readInvalid (raw : Raw) : Except Fault Scalar :=
  match [Quoting.literalBlock, .basicBlock, .literal, .basic].find? fun quoting =>
      quoting.mark.toList.isSuffixOf raw.text with
  | some quoting => failAt (.noOpeningQuote quoting.mark) raw.start
  | none => failOver .unquoted raw.start raw.stop

/-- Passes over digits and underscores that begin at a byte; at least one digit must be there, and
no zero before others unless `zeros`. -/
def checkDigits (zeros : Bool) (part : String) (place : Nat) (s : List Char) :
    Except Fault (Nat × List Char) :=
  let run := s.takeWhile fun c => isDigit c || c = '_'
  let count := (run.filter isDigit).length
  if count = 0 then failAt (.noDigits part) place
  else if 1 < count && !zeros && s.head? = some '0' then failOver .leadingZero place (place + 1)
  else .ok (place + run.length, s.drop run.length)

/-- Checks a floating-point number without sign that begins at a byte. -/
def checkFloat (raw : Raw) (place : Nat) (s : List Char) : Except Fault Unit := do
  let (place, s) ← checkDigits false "mantissa" place s
  let (place, s) ← (
    match s with
    | '.' :: rest => checkDigits true "fraction" (place + 1) rest
    | _ => .ok (place, s) : Except Fault (Nat × List Char))
  let exponent (place : Nat) (rest : List Char) : Except Fault (Nat × List Char) :=
    match rest with
    | '+' :: rest => checkDigits true "exponent" (place + 1) rest
    | '-' :: rest => checkDigits true "exponent" (place + 1) rest
    | _ => checkDigits true "exponent" place rest
  let (place, s) ← (
    match s with
    | 'e' :: rest => exponent (place + 1) rest
    | 'E' :: rest => exponent (place + 1) rest
    | _ => .ok (place, s) : Except Fault (Nat × List Char))
  if s.isEmpty then return () else failOver .badFloat place raw.stop

/-- Ends a floating-point number. -/
def readFloating (raw : Raw) : Except Fault Scalar := do
  checkUnderscores isDigit raw raw.start raw.text
  return .floating (withoutUnderscores raw.text)

/-- Ends a decimal whole number. -/
def readWhole (raw : Raw) : Except Fault Scalar := do
  checkUnderscores isAnyDigit raw raw.start raw.text
  return .whole (wholeValue? 10 (withoutUnderscores raw.text))

/-- Reads a value that begins with a digit or underscore after its sign, at a byte. -/
def readNumber (raw : Raw) (place : Nat) (s : List Char) : Except Fault Scalar :=
  let whole : Except Fault Scalar :=
    if s.head? = some '0' then failOver .leadingZero place (place + 1) else readWhole raw
  let rest := s.dropWhile isDigit
  match rest with
  | [] => whole
  | c :: _ =>
      if c = '-' || c = ':' then
        match Datetime.check raw.text with
        | .ok () => .ok .datetime
        | .error reason => failOver (.badDatetime reason) raw.start raw.stop
      else if rest.contains ' ' then readInvalid raw
      else if rest.any fun c => c = '.' || c = 'e' || c = 'E' then do
        checkFloat raw place s
        readFloating raw
      else if c = '_' then whole
      else readInvalid raw

def Radix.isDigit (radix : Radix) (c : Char) : Bool := (hexValue? c).any (· < radix.base)

/-- Checks the digits of a number in a base, which begin at a byte. -/
def checkRadix (radix : Radix) (place : Nat) : List Char → Except Fault Unit
  | [] => .ok ()
  | c :: rest =>
      if radix.isDigit c || c = '_' then checkRadix radix (place + c.utf8Size) rest
      else failAt (.badDigit radix) place

/-- Reads a number after the letter of its base. -/
def readRadix (radix : Radix) (signed capital : Bool) (raw : Raw) (place : Nat) (s : List Char) :
    Except Fault Scalar := do
  if raw.text.contains ' ' then readInvalid raw
  else
    if signed then failOver .signedRadix raw.start (raw.start + 1)
    if capital then failOver (.capitalRadix radix) place (place + 2)
    match s with
    | c :: _ => if c = '+' || c = '-' then failOver .badSign (place + 2) (place + 3)
    | [] => pure ()
    checkRadix radix (place + 2) s
    checkUnderscores isAnyDigit raw (place + 2) s
    return .whole (wholeValue? radix.base (withoutUnderscores s))

/-- Reads a value that begins with a zero after its sign, at a byte. -/
def readZero (signed : Bool) (raw : Raw) (place : Nat) (s : List Char) : Except Fault Scalar :=
  match s with
  | ['0'] => readWhole raw
  | _ :: c :: rest =>
      if c = 'x' || c = 'X' then readRadix .hexadecimal signed (c = 'X') raw place rest
      else if c = 'o' || c = 'O' then readRadix .octal signed (c = 'O') raw place rest
      else if c = 'b' || c = 'B' then readRadix .binary signed (c = 'B') raw place rest
      else if c = 'd' || c = 'D' then
        if raw.text.contains ' ' then readInvalid raw
        else if signed then failOver .signedRadix raw.start (raw.start + 1)
        else failOver .redundantRadix place (place + 2)
      else readNumber raw place s
  | _ => readNumber raw place s

/-- Reads a word that stands for a value. -/
def readWord (raw : Raw) (word : String) (value : Scalar) (cause : String → Cause) :
    Except Fault Scalar :=
  if raw.text = word.toList then .ok value
  else if raw.text.contains ' ' then readInvalid raw
  else failOver (cause word) raw.start raw.stop

/-- Reads a word after an optional sign, at a byte, that stands for a floating-point number. -/
def readFloatWord (raw : Raw) (place : Nat) (s : List Char) (word : String) :
    Except Fault Scalar :=
  if s = word.toList then .ok (.floating raw.text)
  else if raw.text.contains ' ' then readInvalid raw
  else failOver (.badFloatWord word) place raw.stop

/-- Reads a number that begins with a point after its sign, at a byte. -/
def readPointed (raw : Raw) (place : Nat) (s : List Char) : Except Fault Scalar := do
  if raw.text.contains ' ' then readInvalid raw
  else
    checkFloat raw place s
    readFloating raw

/-- Reads a value after its sign, which ends at a byte. -/
def readSigned (raw : Raw) (place : Nat) (s : List Char) : Except Fault Scalar :=
  match s with
  | [] => readInvalid raw
  | c :: _ =>
      if c = '+' || c = '-' then failOver .redundantSign place (place + 1)
      else if c = '_' then readNumber raw place s
      else if c = '0' then readZero true raw place s
      else if isDigit c then readNumber raw place s
      else if c = '.' then readPointed raw place s
      else if c = 'i' || c = 'I' then readFloatWord raw place s "inf"
      else if c = 'n' || c = 'N' then readFloatWord raw place s "nan"
      else readInvalid raw

/-- Reads a bare value. -/
def readBareScalar (raw : Raw) : Except Fault Scalar :=
  match raw.text with
  | [] => readInvalid raw
  | c :: rest =>
      if c = '+' || c = '-' then readSigned raw (raw.start + 1) rest
      else if c = '_' then readNumber raw raw.start raw.text
      else if c = '0' then readZero false raw raw.start raw.text
      else if isDigit c then readNumber raw raw.start raw.text
      else if c = '.' then readPointed raw raw.start raw.text
      else if c = 't' || c = 'T' then readWord raw "true" (.boolean true) .badBoolean
      else if c = 'f' || c = 'F' then readWord raw "false" (.boolean false) .badBoolean
      else if c = 'i' || c = 'I' then readFloatWord raw raw.start raw.text "inf"
      else if c = 'n' || c = 'N' then readFloatWord raw raw.start raw.text "nan"
      else readInvalid raw

/-- What a single value says. -/
def Raw.scalar (raw : Raw) : Except Fault Scalar :=
  match raw.quoting with
  | some quoting => (readQuoted quoting raw).map fun s => .text (String.ofList s)
  | none => readBareScalar raw

end ScriptRoster.Toml
