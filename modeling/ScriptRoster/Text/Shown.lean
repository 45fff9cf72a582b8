import ScriptRoster.Text.Hidden

/-!
# Shown texts

A text as it is shown in messages and notices: between double quotes, with escapes for quotes,
backslashes and characters that are not shown as they are.
-/

namespace ScriptRoster.Text

/-- The hexadecimal digits of a number. -/
def hexDigits (n : Nat) : List Char := Nat.toDigits 16 n

/-- A character inside a shown text. -/
def showChar (c : Char) : List Char :=
  if c = '\x00' then ['\\', '0']
  else if c = '\t' then ['\\', 't']
  else if c = '\r' then ['\\', 'r']
  else if c = '\n' then ['\\', 'n']
  else if c = '"' then ['\\', '"']
  else if c = '\\' then ['\\', '\\']
  else if isHidden c then ['\\', 'u', '\x7b'] ++ hexDigits c.toNat ++ ['\x7d']
  else [c]

/-- A text as it is shown. -/
def shown (s : String) : String :=
  String.ofList ('"' :: s.toList.flatMap showChar ++ ['"'])

/-- A list of texts as it is shown. -/
def shownList (items : List String) : String := "[" ++ ", ".intercalate (items.map shown) ++ "]"

end ScriptRoster.Text
