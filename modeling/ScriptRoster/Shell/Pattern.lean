/-!
# Patterns

The patterns that a shell matches texts against: a star stands for any characters, a question mark
for one, brackets for one out of a set.
-/

namespace ScriptRoster.Shell

/-- One place of a pattern. -/
inductive Slot where
  | char (c : Char)
  | anyChar
  | anyText
  | oneOf (excluded : Bool) (ranges : List (Char × Char))
  deriving DecidableEq, Repr

abbrev Pattern := List Slot

namespace Pattern

/-- The ranges of a set in brackets, and what follows the closing bracket. -/
def ranges : Nat → List (Char × Char) → List Char → Option (List (Char × Char) × List Char)
  | 0, _, _ => none
  | fuel + 1, found, text =>
      match text with
      | [] => none
      | ']' :: rest =>
          if found.isEmpty then ranges fuel [(']', ']')] rest else some (found.reverse, rest)
      | a :: '-' :: b :: rest =>
          if b == ']' then ranges fuel (('-', '-') :: (a, a) :: found) (b :: rest)
          else ranges fuel ((a, b) :: found) rest
      | a :: rest => ranges fuel ((a, a) :: found) rest

/-- Reads a pattern with at most `fuel` places; a character after a backslash stands for itself. -/
def readWithin : Nat → List Char → Pattern
  | 0, _ => []
  | fuel + 1, text =>
      match text with
      | [] => []
      | '*' :: rest => .anyText :: readWithin fuel rest
      | '?' :: rest => .anyChar :: readWithin fuel rest
      | '\\' :: c :: rest => .char c :: readWithin fuel rest
      | '[' :: rest =>
          let (excluded, inside) :=
            match rest with
            | '!' :: rest => (true, rest)
            | _ => (false, rest)
          match ranges (inside.length + 1) [] inside with
          | some (found, after) => .oneOf excluded found :: readWithin fuel after
          | none => .char '[' :: readWithin fuel rest
      | c :: rest => .char c :: readWithin fuel rest

/-- The pattern that a text denotes. -/
def ofChars (text : List Char) : Pattern := readWithin text.length text

/-- The pattern that matches a text alone. -/
def literal (text : List Char) : Pattern := text.map Slot.char

end Pattern

/-- Whether a character can stand at a place. -/
def Slot.accepts : Slot → Char → Bool
  | .char d, c => c == d
  | .anyChar, _ => true
  | .anyText, _ => true
  | .oneOf excluded ranges, c => ranges.any (fun r => r.1 ≤ c && c ≤ r.2) != excluded

/-- Whether a pattern matches a whole text. -/
def Pattern.covers : Pattern → List Char → Bool
  | [], text => text.isEmpty
  | .anyText :: rest, [] => Pattern.covers rest []
  | .anyText :: rest, c :: text =>
      Pattern.covers rest (c :: text) || Pattern.covers (.anyText :: rest) text
  | _ :: _, [] => false
  | slot :: rest, c :: text => slot.accepts c && Pattern.covers rest text
  termination_by pattern text => (pattern.length, text.length)

namespace Pattern

/-- The lengths from `0` to `n`, the greatest first if `longest`. -/
def lengths (longest : Bool) (n : Nat) : List Nat :=
  if longest then (List.range (n + 1)).reverse else List.range (n + 1)

/-- The text without the longest or shortest beginning that a pattern matches. -/
def dropFront (pattern : Pattern) (longest : Bool) (text : List Char) : List Char :=
  match (lengths longest text.length).find? fun n => pattern.covers (text.take n) with
  | some n => text.drop n
  | none => text

/-- The text without the longest or shortest end that a pattern matches. -/
def dropBack (pattern : Pattern) (longest : Bool) (text : List Char) : List Char :=
  match (lengths longest text.length).find? fun n =>
      pattern.covers (text.drop (text.length - n)) with
  | some n => text.take (text.length - n)
  | none => text

end Pattern

end ScriptRoster.Shell
