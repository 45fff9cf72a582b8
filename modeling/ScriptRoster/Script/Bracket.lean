import ScriptRoster.Script.Lexeme

/-!
# Brackets

Which brackets of a text are never closed. Brackets in comments, strings and behind backticks do not
count. A closing brace closes the nearest brace that is open and all that was opened behind it; a
round bracket is closed only where no other bracket is open behind it.
-/

namespace ScriptRoster.Script

open Lexeme

/-- The text behind the first of some characters that is not behind a backtick. -/
def behindFirst? (last : Char) : Text → Option Text
  | [] => none
  | '\x60' :: _ :: rest => behindFirst? last rest
  | c :: rest => if c == last then some rest else behindFirst? last rest

/-- The text behind what stands at the beginning of a text, if it is something in which brackets do
not count. A plain string that is not closed goes on to the end. -/
def behindPassage? (before : Char) (s : Text) : Option Text :=
  match s with
  | '#' :: _ => if before == ' ' || before == '\n' then comment? s else none
  | '<' :: '#' :: _ => comment? s
  | '\x60' :: _ :: rest => some rest
  | '\'' :: _ => some ((quoted? s).getD [])
  | '@' :: '\'' :: _ => hereString? s
  | '"' :: rest => behindFirst? '"' rest
  | '$' :: '\x7b' :: rest => some ((behindFirst? '\x7d' rest).getD rest)
  | _ => none

/-- An open bracket, and the text from it on. -/
abbrev Opened := Char × Text

/-- The brackets that are open behind a closing bracket, the innermost first. -/
def closeBracket (c : Char) (opened : List Opened) : List Opened :=
  match c with
  | '}' =>
      let below := opened.dropWhile fun bracket => bracket.1 != '\x7b'
      if below.isEmpty then opened else below.drop 1
  | _ =>
      match opened with
      | ('(', _) :: rest => rest
      | _ => opened

/-- The brackets that are open behind at most `fuel` passages, the innermost first. -/
def openedWithin : Nat → Char → List Opened → Text → List Opened
  | 0, _, opened, _ => opened
  | fuel + 1, before, opened, s =>
      match behindPassage? before s with
      | some rest => openedWithin fuel '.' opened rest
      | none =>
          match s with
          | [] => opened
          | c :: rest =>
              let opened :=
                if c == '(' || c == '\x7b' then (c, s) :: opened
                else if c == ')' || c == '}' then closeBracket c opened
                else opened
              openedWithin fuel c opened rest

/-- The brackets of a text that are never closed, the innermost first. -/
def neverClosed (s : Text) : List Opened := openedWithin s.length '\n' [] s

end ScriptRoster.Script
