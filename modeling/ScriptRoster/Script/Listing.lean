import ScriptRoster.Name
import ScriptRoster.Text.Blank

/-!
# Listing by text

A scan of the raw text for what looks like a definition without parameters: at the start of a
line, after spaces and tabs, a definition keyword, spaces or tabs, a name, an optional empty pair
of round brackets, and an opening brace. The scan cannot see comments or strings.

Letters are matched without regard to case under Unicode's simple folding, so the long s and the
kelvin sign count as letters.
-/

namespace ScriptRoster.Script.Listing

open Text

/-- Letters that fold to an ASCII letter. -/
def isLetter (c : Char) : Bool := c.isAlpha || c == '\u017f' || c == '\u212a'

def isNameHead (c : Char) : Bool := isLetter c || c == '_'

def isNameTail (c : Char) : Bool := isLetter c || c.isDigit || c == '_' || c == '-'

/-- Space or tab. -/
def isGap (c : Char) : Bool := c == ' ' || c == '\t'

/-- The small ASCII letter a character folds to, itself for all others. -/
def fold (c : Char) : Char :=
  if c == '\u017f' then 's' else if c == '\u212a' then 'k' else c.toLower

/-- The text after a word given in small letters. -/
def word? : List Char → List Char → Option (List Char)
  | [], s => some s
  | c :: cs, d :: s => if c == fold d then word? cs s else none
  | _ :: _, [] => none

/-- The text after the keyword of a definition. -/
def keyword? (s : List Char) : Option (List Char) :=
  match word? "function".toList s with
  | some rest => some rest
  | none => word? "filter".toList s

def skipBlanks (s : List Char) : List Char := s.dropWhile isBlank

/-- The text after the opening brace, with an empty pair of brackets in front of it or not. -/
def opening? (s : List Char) : Option (List Char) :=
  match skipBlanks s with
  | '{' :: rest => some rest
  | '(' :: rest =>
      match skipBlanks rest with
      | ')' :: after =>
          match skipBlanks after with
          | '{' :: after => some after
          | _ => none
      | _ => none
  | _ => none

/-- The name of the definition that the line beginning here opens, and the text after its brace. -/
def definition? (s : List Char) : Option (List Char × List Char) :=
  match keyword? (s.dropWhile isGap) with
  | none => none
  | some rest =>
      match rest with
      | c :: _ =>
          if isGap c then
            match rest.dropWhile isGap with
            | head :: tail =>
                if isNameHead head then
                  (opening? (tail.dropWhile isNameTail)).map
                    (head :: tail.takeWhile isNameTail, ·)
                else none
            | [] => none
          else none
      | [] => none

/-- The text after the next line break. -/
def nextLine (s : List Char) : List Char := (s.dropWhile (· != '\n')).drop 1

/-- The names of the definitions from the start of a line on, in at most `fuel` steps. The scan
goes on behind each match, at the next start of a line. -/
def namesWithin : Nat → List Char → List String
  | 0, _ => []
  | fuel + 1, s =>
      match definition? s with
      | some (name, rest) => String.ofList name :: namesWithin fuel (nextLine rest)
      | none => if s.isEmpty then [] else namesWithin fuel (nextLine s)

/-- The names of the definitions in a text, each once in its first spelling. -/
def names (source : String) : List String :=
  Name.dedup (namesWithin (source.length + 1) source.toList)

end ScriptRoster.Script.Listing
