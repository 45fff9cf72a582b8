import ScriptRoster.Text.Utf8

/-!
# Printed text

What a shell prints for a format and its arguments, and for a line of words. Backslashes begin
escapes, among them bytes by octal digits, so the result is a sequence of bytes.
-/

namespace ScriptRoster.Shell.Printed

open Text

def isOctal (c : Char) : Bool := '0' ≤ c && c ≤ '7'

/-- The number that octal digits write, as a byte. -/
def octal (digits : List Char) : UInt8 :=
  (digits.foldl (fun n c => n * 8 + (c.toNat - '0'.toNat)) 0).toUInt8

/-- The character that a letter stands for behind a backslash. -/
def letter? (c : Char) : Option UInt8 :=
  match c with
  | 'a' => some 7
  | 'b' => some 8
  | 't' => some 9
  | 'n' => some 10
  | 'v' => some 11
  | 'f' => some 12
  | 'r' => some 13
  | '\\' => some 92
  | _ => none

/-- What an escape stands for, and what follows it; `text` begins behind the backslash. -/
def escape (text : List Char) : Bytes × List Char :=
  match text with
  | [] => ([92], [])
  | c :: rest =>
      if isOctal c then
        let digits := (text.take 3).takeWhile isOctal
        ([octal digits], text.drop digits.length)
      else
        match letter? c with
        | some b => ([b], rest)
        | none => ([92], text)

/-- The bytes of a text with its escapes replaced. A nought begins up to three octal digits more,
and a `c` ends all output, in which case the second component is set. -/
def unescaped : Nat → List Char → Bytes × Bool
  | 0, _ => ([], false)
  | fuel + 1, text =>
      match text with
      | [] => ([], false)
      | '\\' :: 'c' :: _ => ([], true)
      | '\\' :: '0' :: rest =>
          let digits := (rest.take 3).takeWhile isOctal
          let (more, ended) := unescaped fuel (rest.drop digits.length)
          (octal digits :: more, ended)
      | '\\' :: rest =>
          let (found, rest) := escape rest
          let (more, ended) := unescaped fuel rest
          (found ++ more, ended)
      | c :: rest =>
          let (more, ended) := unescaped fuel rest
          (encode (String.singleton c) ++ more, ended)

/-- What a format asks for at one place. -/
inductive Directive where
  | bytes (content : Bytes)
  | argument (left : Bool) (filler : Char) (width : Nat) (precision : Option Nat) (kind : Char)
  deriving Repr

def digits (text : List Char) : List Char := text.takeWhile Char.isDigit

def number (digits : List Char) : Nat := (String.ofList digits).toNat?.getD 0

/-- The directive that a percent sign begins, and what follows it. -/
def directive (text : List Char) : Directive × List Char :=
  let flags := text.takeWhile fun c => c == '-' || c == '0' || c == '+' || c == ' ' || c == '#'
  let text := text.drop flags.length
  let width := digits text
  let text := text.drop width.length
  let (precision, text) :=
    match text with
    | '.' :: rest => (some (number (digits rest)), rest.drop (digits rest).length)
    | _ => (none, text)
  let filler := if flags.contains '0' && !flags.contains '-' then '0' else ' '
  match text with
  | '%' :: rest => (.bytes [37], rest)
  | kind :: rest =>
      (.argument (flags.contains '-') filler (number width) precision kind, rest)
  | [] => (.bytes [37], [])

/-- The directives of a format. -/
def directives : Nat → List Char → List Directive
  | 0, _ => []
  | fuel + 1, text =>
      match text with
      | [] => []
      | '\\' :: rest =>
          let (found, rest) := escape rest
          .bytes found :: directives fuel rest
      | '%' :: rest =>
          let (found, rest) := directive rest
          found :: directives fuel rest
      | c :: rest => .bytes (encode (String.singleton c)) :: directives fuel rest

/-- A text filled up to a width. -/
def padded (left : Bool) (filler : Char) (width : Nat) (content : Bytes) : Bytes :=
  let filling := List.replicate (width - content.length) filler.toNat.toUInt8
  if left then content ++ filling else filling ++ content

/-- The text of an argument. -/
def argument (kind : Char) (precision : Option Nat) (value : String) : Bytes × Bool :=
  match kind with
  | 's' =>
      let content := encode value
      ((precision.map content.take).getD content, false)
  | 'b' => unescaped (value.length + 1) value.toList
  | 'c' => ((encode value).take 1, false)
  | 'x' => (encode (String.ofList (Nat.toDigits 16 (value.toInt?.getD 0).toNat)), false)
  | 'o' => (encode (String.ofList (Nat.toDigits 8 (value.toInt?.getD 0).toNat)), false)
  | _ => (encode (toString (value.toInt?.getD 0)), false)

/-- Prints directives once, with arguments as far as there are any. -/
def once : List Directive → List String → Bytes × List String × Bool
  | [], values => ([], values, false)
  | .bytes content :: rest, values =>
      let (more, values, ended) := once rest values
      (content ++ more, values, ended)
  | .argument left filler width precision kind :: rest, values =>
      let value :=
        values.head?.getD (if kind == 's' || kind == 'b' || kind == 'c' then "" else "0")
      let (content, ended) := argument kind precision value
      let content := padded left filler width content
      if ended then (content, [], true)
      else
        let (more, values, ended) := once rest (values.drop 1)
        (content ++ more, values, ended)

/-- Prints directives until there are no more arguments. -/
def often : Nat → List Directive → List String → Bytes
  | 0, _, _ => []
  | fuel + 1, found, values =>
      let (content, left, ended) := once found values
      if ended || left.isEmpty || left.length == values.length then content
      else content ++ often fuel found left

/-- What is printed for a format and its arguments. -/
def formatted (format : String) (values : List String) : Bytes :=
  often (values.length + 1) (directives (format.length + 1) format.toList) values

/-- The words with blanks between them. -/
def joined (words : List String) : String := " ".intercalate words

/-- The line that a shell prints for words, with escapes. -/
def shellLine (words : List String) : Bytes :=
  let (bare, words) :=
    match words with
    | "-n" :: rest => (true, rest)
    | _ => (false, words)
  let text := joined words
  let (content, ended) := unescaped (text.length + 1) text.toList
  if bare || ended then content else content ++ [10]

/-- The options in front of the words of a line. -/
def lineOptions : List String → List Char × List String
  | [] => ([], [])
  | word :: rest =>
      match word.toList with
      | '-' :: c :: more =>
          if (c :: more).all fun c => c == 'n' || c == 'e' || c == 'E' then
            let (options, rest) := lineOptions rest
            (c :: more ++ options, rest)
          else ([], word :: rest)
      | _ => ([], word :: rest)

/-- The line that the program for it prints for words, with escapes only if an option asks. -/
def programLine (words : List String) : Bytes :=
  let (options, words) := lineOptions words
  let text := joined words
  let escapes := (options.reverse.find? (· != 'n')) == some 'e'
  let (content, ended) :=
    if escapes then unescaped (text.length + 1) text.toList else (encode text, false)
  if options.contains 'n' || ended then content else content ++ [10]

end ScriptRoster.Shell.Printed
