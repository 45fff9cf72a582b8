import ScriptRoster.Json.Fault

/-!
# Strings in JSON

A string stands between double quotes. Quotes, backslashes and control characters are written as
escapes; reading takes any escape, with surrogates only in pairs.
-/

namespace ScriptRoster.Json

/-- The hexadecimal digit of a number below sixteen. -/
def hexDigit (n : Nat) : Char := Nat.digitChar n

/-- A character as it is written inside a string. -/
def escapeChar (c : Char) : List Char :=
  if c = '"' then ['\\', '"']
  else if c = '\\' then ['\\', '\\']
  else if c = '\x08' then ['\\', 'b']
  else if c = '\x0c' then ['\\', 'f']
  else if c = '\n' then ['\\', 'n']
  else if c = '\r' then ['\\', 'r']
  else if c = '\t' then ['\\', 't']
  else if c.toNat < 0x20 then
    ['\\', 'u', '0', '0', hexDigit (c.toNat / 16), hexDigit (c.toNat % 16)]
  else [c]

/-- A text as a string in JSON. -/
def quote (s : List Char) : List Char := '"' :: s.flatMap escapeChar ++ ['"']

/-- The value of a hexadecimal digit. -/
def hexValue? (c : Char) : Option Nat :=
  if '0' ≤ c ∧ c ≤ '9' then some (c.toNat - 48)
  else if 'a' ≤ c ∧ c ≤ 'f' then some (c.toNat - 87)
  else if 'A' ≤ c ∧ c ≤ 'F' then some (c.toNat - 55)
  else none

/-- Reads the four digits of an escape. -/
def readUnit (s : List Char) : Except Fault (Nat × List Char) :=
  if Text.byteLength s < 4 then fail .endInString []
  else
    match s with
    | a :: b :: c :: d :: rest =>
        match hexValue? a, hexValue? b, hexValue? c, hexValue? d with
        | some a, some b, some c, some d => .ok (((a * 16 + b) * 16 + c) * 16 + d, rest)
        | _, _, _, _ => .error ⟨.badEscape, s, 4⟩
    | _ => .error ⟨.badEscape, s, 4⟩

def isLeading (unit : Nat) : Bool := 0xd800 ≤ unit && unit ≤ 0xdbff

def isTrailing (unit : Nat) : Bool := 0xdc00 ≤ unit && unit ≤ 0xdfff

/-- Reads the second half of a pair of surrogates. -/
def readTrailing (leading : Nat) (s : List Char) : Except Fault (Char × List Char) :=
  match s with
  | [] => fail .endInString []
  | '\\' :: rest =>
      match rest with
      | [] => fail .endInString []
      | 'u' :: rest =>
          match readUnit rest with
          | .ok (unit, rest) =>
              if isTrailing unit then
                .ok (Char.ofNat ((leading - 0xd800) * 0x400 + (unit - 0xdc00) + 0x10000), rest)
              else fail .loneSurrogate rest
          | .error fault => .error fault
      | _ => failNext .cutEscape rest
  | _ => failNext .cutEscape s

/-- Reads an escape after its backslash. -/
def readEscape (s : List Char) : Except Fault (Char × List Char) :=
  match s with
  | [] => fail .endInString []
  | '"' :: rest => .ok ('"', rest)
  | '\\' :: rest => .ok ('\\', rest)
  | '/' :: rest => .ok ('/', rest)
  | 'b' :: rest => .ok ('\x08', rest)
  | 'f' :: rest => .ok ('\x0c', rest)
  | 'n' :: rest => .ok ('\n', rest)
  | 'r' :: rest => .ok ('\r', rest)
  | 't' :: rest => .ok ('\t', rest)
  | 'u' :: rest =>
      match readUnit rest with
      | .ok (unit, rest) =>
          if isTrailing unit then fail .loneSurrogate rest
          else if isLeading unit then readTrailing unit rest
          else .ok (Char.ofNat unit, rest)
      | .error fault => .error fault
  | _ => failNext .badEscape s

/-- Reads at most `fuel` characters of a string up to its closing quote. -/
def readBodyWithin : Nat → List Char → Except Fault (List Char × List Char)
  | 0, s => fail .endInString s
  | fuel + 1, s =>
      match s with
      | [] => fail .endInString []
      | '"' :: rest => .ok ([], rest)
      | '\\' :: rest =>
          match readEscape rest with
          | .ok (c, rest) => (readBodyWithin fuel rest).map fun body => (c :: body.1, body.2)
          | .error fault => .error fault
      | c :: rest =>
          if c.toNat < 0x20 then failNext .controlCharacter s
          else (readBodyWithin fuel rest).map fun body => (c :: body.1, body.2)

/-- Reads a string after its opening quote. -/
def readBody (s : List Char) : Except Fault (List Char × List Char) :=
  readBodyWithin (s.length + 1) s

/-- Passes over an escape after its backslash; surrogates need not be paired. -/
def skipEscape (s : List Char) : Except Fault (List Char) :=
  match s with
  | [] => fail .endInString []
  | 'u' :: rest =>
      match readUnit rest with
      | .ok (_, rest) => .ok rest
      | .error fault => .error fault
  | c :: rest =>
      if ['"', '\\', '/', 'b', 'f', 'n', 'r', 't'].contains c then .ok rest
      else failNext .badEscape s

/-- Passes over at most `fuel` characters of a string and its closing quote. -/
def skipBodyWithin : Nat → List Char → Except Fault (List Char)
  | 0, s => fail .endInString s
  | fuel + 1, s =>
      match s with
      | [] => fail .endInString []
      | '"' :: rest => .ok rest
      | '\\' :: rest =>
          match skipEscape rest with
          | .ok rest => skipBodyWithin fuel rest
          | .error fault => .error fault
      | c :: rest =>
          if c.toNat < 0x20 then fail .controlCharacter s else skipBodyWithin fuel rest

/-- Passes over a string after its opening quote. -/
def skipBody (s : List Char) : Except Fault (List Char) := skipBodyWithin (s.length + 1) s

end ScriptRoster.Json
