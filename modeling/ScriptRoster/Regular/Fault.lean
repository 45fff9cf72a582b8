/-!
# Faults of regular expressions

Why a text is no regular expression, and where. A fault is told with the expression itself, carets
below the characters that are wrong.
-/

namespace ScriptRoster.Regular

/-- A place in an expression: a line and a column, both counted from one. -/
structure Place where
  line : Nat
  column : Nat
  deriving DecidableEq, Repr

/-- The place behind a character. -/
def Place.after (place : Place) (c : Char) : Place :=
  if c = '\n' then ⟨place.line + 1, 1⟩ else ⟨place.line, place.column + 1⟩

/-- The characters from a first place to before a last. -/
structure Span where
  start : Place
  stop : Place
  deriving DecidableEq, Repr

/-- What can be wrong with an expression. -/
inductive Cause where
  | classEscape
  | classRangeOrder
  | classRangeBound
  | classUnclosed
  | decimalEmpty
  | decimalInvalid
  | hexEmpty
  | hexInvalid
  | hexDigit
  | escapeUnfinished
  | escapeUnknown
  | flagDangling
  | flagRepeated
  | flagNegatedTwice
  | flagUnfinished
  | flagUnknown
  | nameRepeated
  | nameEmpty
  | nameInvalid
  | nameUnclosed
  | groupUnclosed
  | groupUnopened
  | countOrder
  | countEmpty
  | countUnclosed
  | nothingToRepeat
  | boundaryUnclosed
  | boundaryUnknown
  | boundaryUnfinished
  | propertyInvalid
  | propertyUnknown
  | backreference
  | lookAround
  | textOnly
  | bytesOnly
  deriving DecidableEq, Repr

/-- What is said of a cause. -/
def Cause.message : Cause → String
  | .classEscape => "invalid escape sequence found in character class"
  | .classRangeOrder => "invalid character class range, the start must be <= the end"
  | .classRangeBound => "invalid range boundary, must be a literal"
  | .classUnclosed => "unclosed character class"
  | .decimalEmpty => "decimal literal empty"
  | .decimalInvalid => "decimal literal invalid"
  | .hexEmpty => "hexadecimal literal empty"
  | .hexInvalid => "hexadecimal literal is not a Unicode scalar value"
  | .hexDigit => "invalid hexadecimal digit"
  | .escapeUnfinished => "incomplete escape sequence, reached end of pattern prematurely"
  | .escapeUnknown => "unrecognized escape sequence"
  | .flagDangling => "dangling flag negation operator"
  | .flagRepeated => "duplicate flag"
  | .flagNegatedTwice => "flag negation operator repeated"
  | .flagUnfinished => "expected flag but got end of regex"
  | .flagUnknown => "unrecognized flag"
  | .nameRepeated => "duplicate capture group name"
  | .nameEmpty => "empty capture group name"
  | .nameInvalid => "invalid capture group character"
  | .nameUnclosed => "unclosed capture group name"
  | .groupUnclosed => "unclosed group"
  | .groupUnopened => "unopened group"
  | .countOrder => "invalid repetition count range, the start must be <= the end"
  | .countEmpty => "repetition quantifier expects a valid decimal"
  | .countUnclosed => "unclosed counted repetition"
  | .nothingToRepeat => "repetition operator missing expression"
  | .boundaryUnclosed =>
      "special word boundary assertion is either unclosed or contains an invalid character"
  | .boundaryUnknown =>
      "unrecognized special word boundary assertion, valid choices are: start, end, start-half or "
        ++ "end-half"
  | .boundaryUnfinished =>
      "found either the beginning of a special word boundary or a bounded repetition on a \\b with "
        ++ "an opening brace, but no closing brace"
  | .propertyInvalid => "invalid Unicode character class"
  | .propertyUnknown => "Unicode property not found"
  | .backreference => "backreferences are not supported"
  | .lookAround => "look-around, including look-ahead and look-behind, is not supported"
  | .textOnly => "Unicode not allowed here"
  | .bytesOnly => "pattern can match invalid UTF-8"

/-- A cause and where it is. Where something stands a second time, `first` is where it stands the
first time. -/
structure Fault where
  cause : Cause
  span : Span
  first : Option Span
  deriving DecidableEq, Repr

/-- Characters of one kind in a row. -/
def row (n : Nat) (c : Char) : String := String.ofList (List.replicate n c)

/-- The lines of an expression without what ends them. -/
def linesOf : List String → List String
  | [] => []
  | [last] => if last.isEmpty then [] else [last]
  | line :: rest =>
      (if line.endsWith "\r" then String.ofList line.toList.dropLast else line) :: linesOf rest

/-- Carets below the characters of spans, from a column on. -/
def carets : Nat → List Span → String
  | _, [] => ""
  | column, span :: rest =>
      let blanks := span.start.column - column
      let marks := max 1 (span.stop.column - span.start.column)
      row blanks ' ' ++ row marks '^' ++ carets (column + blanks + marks) rest

namespace Fault

/-- Where a fault is: first what stands in front. -/
def spans (fault : Fault) : List Span :=
  match fault.first with
  | some first => [first, fault.span]
  | none => [fault.span]

/-- A line of an expression with its number, if lines are numbered, and carets below it. -/
def markedLine (fault : Fault) (width number : Nat) (line : String) : String :=
  let digits := toString number
  let opening := if width = 0 then "    " else row (width - digits.length) ' ' ++ digits ++ ": "
  let spans := fault.spans.filter fun span =>
    span.start.line == span.stop.line && span.start.line == number
  let marks := if spans.isEmpty then "" else row opening.length ' ' ++ carets 1 spans ++ "\n"
  opening ++ line ++ "\n" ++ marks

/-- Tells of spans that go over several lines. -/
def longSpans (fault : Fault) : String :=
  String.join ((fault.spans.filter fun span => span.start.line != span.stop.line).map fun span =>
    "on line " ++ toString span.start.line ++ " (column " ++ toString span.start.column
      ++ ") through line " ++ toString span.stop.line ++ " (column "
      ++ toString (span.stop.column - 1) ++ ")\n")

/-- What is said of a fault in an expression. An expression of several lines is framed. -/
def message (fault : Fault) (expression : String) : String :=
  let pieces := expression.splitOn "\n"
  let lines := linesOf pieces
  let width := if pieces.length ≤ 1 then 0 else (toString pieces.length).length
  let marked := String.join (lines.zipIdx.map fun entry =>
    fault.markedLine width (entry.2 + 1) entry.1)
  let frame := if pieces.length ≤ 1 then "" else row 79 '~' ++ "\n"
  let long := if pieces.length ≤ 1 then "" else fault.longSpans
  "regex parse error:\n" ++ frame ++ marked ++ frame ++ long ++ "error: " ++ fault.cause.message

end Fault

end ScriptRoster.Regular
