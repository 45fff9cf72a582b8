import ScriptRoster.Toml.Line

/-!
# Quoted texts in TOML

What a quoted text says. Literal texts say what they hold; basic texts hold escapes.
-/

namespace ScriptRoster.Toml

def hexValue? (c : Char) : Option Nat :=
  if '0' ≤ c ∧ c ≤ '9' then some (c.toNat - 48)
  else if 'a' ≤ c ∧ c ≤ 'f' then some (c.toNat - 87)
  else if 'A' ≤ c ∧ c ≤ 'F' then some (c.toNat - 55)
  else none

/-- The number that hexadecimal digits stand for. -/
def hexNumber (digits : List Char) : Nat :=
  digits.foldl (fun n c => n * 16 + (hexValue? c).getD 0) 0

/-- Reads an escape of so many digits that begin at a byte. -/
def readHex (count place : Nat) (s : List Char) : Except Fault (Char × List Char) :=
  let digits := (s.take count).takeWhile fun c => (hexValue? c).isSome
  if digits.length < count then failAt .shortEscape (place + digits.length)
  else
    let n := hexNumber digits
    if n.isValidChar then .ok (Char.ofNat n, s.drop count) else failAt .badEscape place

/-- Reads an escape, its backslash left out, that begins at a byte. -/
def readEscape (place : Nat) (s : List Char) : Except Fault (Char × List Char) :=
  match s with
  | 'b' :: rest => .ok ('\x08', rest)
  | 'e' :: rest => .ok ('\x1b', rest)
  | 'f' :: rest => .ok ('\x0c', rest)
  | 'n' :: rest => .ok ('\n', rest)
  | 'r' :: rest => .ok ('\r', rest)
  | 't' :: rest => .ok ('\t', rest)
  | '\\' :: rest => .ok ('\\', rest)
  | '"' :: rest => .ok ('"', rest)
  | 'x' :: rest => readHex 2 (place + 1) rest
  | 'u' :: rest => readHex 4 (place + 1) rest
  | 'U' :: rest => readHex 8 (place + 1) rest
  | _ => failAt .noEscape place

/-- Whether a text may hold a character that is not visible. -/
def isPlainChar (c : Char) : Bool := c = '\t' || (0x20 ≤ c.toNat && c.toNat != 0x7f)

/-- What a literal text says, whose inside begins at a byte. -/
def readLiteral (place : Nat) : List Char → Except Fault (List Char)
  | [] => .ok []
  | c :: rest =>
      if isPlainChar c && c != '\'' then (readLiteral (place + c.utf8Size) rest).map (c :: ·)
      else failAt (.badCharacter .literal) place

/-- What a literal block says, whose inside begins at a byte. -/
def readLiteralBlock (place : Nat) : List Char → Except Fault (List Char)
  | [] => .ok []
  | '\r' :: rest =>
      if rest.head? = some '\n' then (readLiteralBlock (place + 1) rest).map ('\r' :: ·)
      else failAt .bareReturn (place + 1)
  | c :: rest =>
      if isPlainChar c || c = '\n' then (readLiteralBlock (place + c.utf8Size) rest).map (c :: ·)
      else failAt (.badCharacter .literalBlock) place

/-- The characters from the first on that a basic text may not hold. -/
def unfit (block : Bool) (s : List Char) : List Char :=
  s.takeWhile fun c =>
    !(isPlainChar c && c != '"') && c != '\\' && !(block && (c = '\n' || c = '\r' || c = '"'))

/-- Passes over a line end after a backslash, and over all blanks and line ends around it, from a
byte on. -/
def skipLineEnd (place : Nat) (s : List Char) : Except Fault (List Char) :=
  let blank (c : Char) : Bool := c = ' ' || c = '\t'
  let space (c : Char) : Bool := blank c || c = '\n' || c = '\r'
  let blanks := (s.takeWhile blank).length
  match s.drop blanks with
  | '\n' :: rest => .ok (rest.dropWhile space)
  | '\r' :: '\n' :: rest => .ok (rest.dropWhile space)
  | '\r' :: _ => failAt .bareReturn (place + blanks + 1)
  | _ => failAt .noEscapedLineEnd (place + blanks)

/-- What a basic text or block says, whose inside begins at a byte, in at most `fuel` steps. -/
def readBasicWithin (block : Bool) : Nat → Nat → List Char → Except Fault (List Char)
  | 0, _, _ => .ok []
  | fuel + 1, place, s =>
      match s with
      | [] => .ok []
      | c :: rest =>
          if c = '\\' then
            if block && (rest.head?.any fun c => [' ', '\t', '\r', '\n'].contains c) then do
              let after ← skipLineEnd (place + 1) rest
              readBasicWithin block fuel (place + (Text.byteLength s - Text.byteLength after)) after
            else do
              let (e, after) ← readEscape (place + 1) rest
              let place := place + (Text.byteLength s - Text.byteLength after)
              return e :: (← readBasicWithin block fuel place after)
          else if block && c = '\r' then
            if rest.head? = some '\n' then
              (readBasicWithin block fuel (place + 1) rest).map ('\r' :: ·)
            else failAt .bareReturn (place + 1)
          else if (isPlainChar c && (block || c != '"')) || (block && c = '\n') then
            (readBasicWithin block fuel (place + c.utf8Size) rest).map (c :: ·)
          else
            failOver (.badCharacter (if block then .basicBlock else .basic)) place
              (place + Text.byteLength (unfit block s))

/-- What a basic text or block says. -/
def readBasic (block : Bool) (place : Nat) (s : List Char) : Except Fault (List Char) :=
  readBasicWithin block (s.length + 1) place s

/-- The text without a line end at its start. -/
def dropLineEnd : List Char → List Char
  | '\n' :: rest => rest
  | '\r' :: '\n' :: rest => rest
  | s => s

/-- The inside of a quoted text: without the opening quotes, and without the closing ones if they
are there. -/
def inside (quoting : Quoting) (text : List Char) : Option (List Char) :=
  let size := quoting.mark.length
  let opened := text.drop size
  if quoting.mark.toList.isSuffixOf opened then some (opened.take (opened.length - size)) else none

/-- What a quoted text says. -/
def readQuoted (quoting : Quoting) (raw : Raw) : Except Fault (List Char) :=
  match inside quoting raw.text with
  | none => failAt (.unclosedQuote quoting) raw.stop
  | some s =>
      let place := raw.start + quoting.mark.length
      let dropped := dropLineEnd s
      let after := place + (s.length - dropped.length)
      match quoting with
      | .literal => readLiteral place s
      | .basic => readBasic false place s
      | .literalBlock => readLiteralBlock after dropped
      | .basicBlock => readBasic true after dropped

/-- Whether a bare key may hold a character. -/
def isKeyChar (c : Char) : Bool := c.isAlphanum || c = '-' || c = '_'

/-- Checks the characters of a bare key that begin at a byte. -/
def checkKey (place : Nat) : List Char → Except Fault Unit
  | [] => .ok ()
  | c :: rest =>
      if isKeyChar c then checkKey (place + c.utf8Size) rest
      else failOver .badKey place (place + c.utf8Size)

/-- The name that a part of a key gives. A block is no name. -/
def Raw.name (raw : Raw) : Except Fault String :=
  match raw.quoting with
  | some quoting =>
      if quoting = .literalBlock || quoting = .basicBlock then
        failOver (.blockKey quoting) raw.start raw.stop
      else (readQuoted quoting raw).map String.ofList
  | none => do
      if raw.text.isEmpty then failAt .emptyKey raw.start
      else checkKey raw.start raw.text
      return String.ofList raw.text

end ScriptRoster.Toml
