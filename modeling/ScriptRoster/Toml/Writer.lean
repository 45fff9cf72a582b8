import ScriptRoster.Toml.Fault

/-!
# Writing TOML

A text is written in the plainest of the four quotings that can say it: basic where nothing has to
be escaped, else literal, else a block. Texts with control characters are always basic.
-/

namespace ScriptRoster.Toml

/-- Whether a character can only be said by an escape, in any quoting. -/
def needsCode (c : Char) : Bool := (c.toNat < 0x20 && c != '\t' && c != '\n') || c.toNat = 0x7f

/-- The greatest number of equal characters in a row. -/
def longestRun (c : Char) (run : Nat) : List Char → Nat
  | [] => run
  | d :: rest => if d = c then longestRun c (run + 1) rest else max run (longestRun c 0 rest)

/-- The quoting that a text is written in. -/
def chooseQuoting (s : List Char) : Quoting :=
  let coded := s.any needsCode
  let singles := longestRun '\'' 0 s
  let doubles := longestRun '"' 0 s
  let broken := s.contains '\n'
  if !coded && !s.contains '\\' && doubles = 0 && !broken then .basic
  else if !coded && singles = 0 && !broken then .literal
  else if !coded && !s.contains '\\' && doubles ≤ 2 then .basicBlock
  else if !coded && singles ≤ 2 then .literalBlock
  else if broken then .basicBlock
  else .basic

/-- A hexadecimal digit, a capital if it is a letter. -/
def capitalDigit (n : Nat) : Char := (Nat.digitChar n).toUpper

/-- A control character as an escape. -/
def codeOf (c : Char) : List Char :=
  ['\\', 'u', '0', '0', capitalDigit (c.toNat / 16), capitalDigit (c.toNat % 16)]

/-- The inside of a basic text or block, after so many quotes in a row. -/
def escaped (block : Bool) (quotes : Nat) : List Char → List Char
  | [] => []
  | c :: rest =>
      if c = '"' then
        if (if block then 2 else 0) < quotes + 1 then '\\' :: '"' :: escaped block 0 rest
        else '"' :: escaped block (quotes + 1) rest
      else if c = '\x08' then '\\' :: 'b' :: escaped block 0 rest
      else if c = '\t' then '\\' :: 't' :: escaped block 0 rest
      else if c = '\n' then
        if block then '\n' :: escaped block 0 rest else '\\' :: 'n' :: escaped block 0 rest
      else if c = '\x0c' then '\\' :: 'f' :: escaped block 0 rest
      else if c = '\r' then '\\' :: 'r' :: escaped block 0 rest
      else if c = '\\' then '\\' :: '\\' :: escaped block 0 rest
      else if c.toNat < 0x20 || c.toNat = 0x7f then codeOf c ++ escaped block 0 rest
      else c :: escaped block 0 rest

/-- A text in a quoting. A block that holds a line end begins with one that does not count. -/
def inQuoting (quoting : Quoting) (s : List Char) : List Char :=
  let mark := quoting.mark.toList
  let lead := if s.contains '\n' then ['\n'] else []
  match quoting with
  | .literal => mark ++ s ++ mark
  | .basic => mark ++ escaped false 0 s ++ mark
  | .literalBlock => mark ++ lead ++ s ++ mark
  | .basicBlock => mark ++ lead ++ escaped true 0 s ++ mark

/-- A text as a value. -/
def textValue (s : String) : String :=
  String.ofList (inQuoting (chooseQuoting s.toList) s.toList)

/-- Texts as an array, with a line for each if there are more than one. -/
def textsValue (items : List String) : String :=
  match items with
  | [] => "[]"
  | [item] => "[" ++ textValue item ++ "]"
  | _ => "[\n" ++ String.join (items.map fun item => "    " ++ textValue item ++ ",\n") ++ "]"

/-- A key with its value on a line of its own. -/
def entryLine (key value : String) : String := key ++ " = " ++ value ++ "\n"

end ScriptRoster.Toml
