import ScriptRoster.Regular.Tree

/-!
# Reading regular expressions

An expression is read from its first letter to its last, and the first thing that is wrong ends the
reading.
-/

namespace ScriptRoster.Regular

/-- How far an expression has been read. -/
structure Progress where
  rest : List Char
  place : Place
  /-- Whether white space and comments are passed over. -/
  spaced : Bool
  /-- The names of groups, and where they stand. -/
  names : List (String × Span)

/-- A step of reading. -/
abbrev Reading := StateT Progress (Except Fault)

namespace Reading

/-- Ends the reading with a fault. -/
def fail {α : Type} (cause : Cause) (span : Span) : Reading α := throw ⟨cause, span, none⟩

/-- The place that has been reached. -/
def here : Reading Place := return (← get).place

/-- What has been read from a place on. -/
def since (start : Place) : Reading Span := return ⟨start, ← here⟩

/-- Nothing, at the place that has been reached. -/
def nothing : Reading Span := do since (← here)

/-- The next character. -/
def next? : Reading (Option Char) := return (← get).rest.head?

/-- The next character, as a span. -/
def nextSpan : Reading Span := do
  let place ← here
  return ⟨place, ((← next?).map place.after).getD place⟩

/-- The place and the rest behind a character. -/
def pass (progress : Progress) (c : Char) (rest : List Char) : Progress :=
  { progress with place := progress.place.after c, rest }

/-- Reads a character. -/
def advance : Reading Unit :=
  modify fun progress =>
    match progress.rest with
    | c :: rest => pass progress c rest
    | [] => progress

/-- Reads some characters. -/
def advanceBy : Nat → Reading Unit
  | 0 => pure ()
  | n + 1 => do
      advance
      advanceBy n

/-- Reads a text if it comes next. -/
def accept (text : String) : Reading Bool := do
  if text.toList.isPrefixOf (← get).rest then
    advanceBy text.length
    return true
  else return false

/-- Reads the first of some texts that comes next. -/
def acceptAny : List String → Reading Bool
  | [] => return false
  | text :: rest => do if ← accept text then return true else acceptAny rest

/-- The place and the rest behind white space and comments. -/
def behindSpace (comment : Bool) (place : Place) : List Char → Place × List Char
  | [] => (place, [])
  | c :: rest =>
      if comment then behindSpace (c != '\n') (place.after c) rest
      else if Text.isBlank c then behindSpace false (place.after c) rest
      else if c = '#' then behindSpace true (place.after c) rest
      else (place, c :: rest)

/-- Passes over white space and comments, where they do not count. -/
def skip : Reading Unit :=
  modify fun progress =>
    if progress.spaced then
      let (place, rest) := behindSpace false progress.place progress.rest
      { progress with place, rest }
    else progress

/-- Reads a character, and passes over what does not count. -/
def move : Reading Unit := do
  advance
  skip

/-- Reads characters for as long as they are of a kind. -/
def collect (kind : Char → Bool) (move : Reading Unit) : Nat → Reading (List Char)
  | 0 => return []
  | fuel + 1 => do
      match ← next? with
      | some c =>
          if kind c then
            move
            return c :: (← collect kind move fuel)
          else return []
      | none => return []

/-- Reads all characters of a kind that come next. -/
def readWhile (kind : Char → Bool) (move : Reading Unit) : Reading (List Char) := do
  collect kind move (← get).rest.length

/-- The value of digits to a base. -/
def value (base : Nat) (digits : List Char) : Nat :=
  digits.foldl (fun n c =>
    n * base + (if c.isDigit then c.toNat - '0'.toNat else c.toLower.toNat - 'a'.toNat + 10)) 0

/-- The least number that is too great for a count. -/
def countLimit : Nat := 4294967296

/-- Reads a count, or tells why there is none. -/
def count : Reading (Except Fault Nat) := do
  let _ ← readWhile Text.isBlank advance
  let start ← here
  let digits ← readWhile Char.isDigit move
  let span ← since start
  let _ ← readWhile Text.isBlank move
  if digits.isEmpty then return .error ⟨.countEmpty, span, none⟩
  else if value 10 digits < countLimit then return .ok (value 10 digits)
  else return .error ⟨.decimalInvalid, span, none⟩

/-- Whether a character is a hexadecimal digit. -/
def isHex (c : Char) : Bool := c.isDigit || ('a' ≤ c.toLower && c.toLower ≤ 'f')

/-- The character with a number, where the number is written in a span. -/
def numbered (digits : List Char) (span : Span) : Reading Char :=
  let n := value 16 digits
  if n < 0xd800 || (0xdfff < n && n < 0x110000) then return Char.ofNat n
  else fail .hexInvalid span

/-- Reads some hexadecimal digits. -/
def hexDigits : Nat → Reading (List Char)
  | 0 => return []
  | n + 1 => do
      match ← next? with
      | none => fail .escapeUnfinished (← nothing)
      | some c =>
          if isHex c then
            move
            return c :: (← hexDigits n)
          else fail .hexDigit (← nextSpan)

/-- Reads hexadecimal digits between braces. -/
def hexBraces : Reading Char := do
  let brace ← here
  let start := (← nextSpan).stop
  move
  let digits ← readWhile isHex move
  let stop ← here
  match ← next? with
  | none => fail .escapeUnfinished (← since brace)
  | some '\x7d' =>
      move
      if digits.isEmpty then fail .hexEmpty (← since brace)
      else numbered digits ⟨start, stop⟩
  | some _ => fail .hexDigit (← nextSpan)

/-- Reads the number of a letter, of so many digits where there are no braces. -/
def hex (digits : Nat) : Reading Char := do
  move
  match ← next? with
  | none => fail .escapeUnfinished (← nothing)
  | some '\x7b' => hexBraces
  | some _ =>
      let start ← here
      let digits ← hexDigits digits
      numbered digits (← since start)

/-- Reads the name of a property. -/
def property (start : Place) : Reading Span := do
  move
  match ← next? with
  | none => fail .escapeUnfinished (← nothing)
  | some '\x7b' =>
      move
      let _ ← readWhile (· != '\x7d') move
      if (← next?).isNone then fail .escapeUnfinished (← nothing)
      advance
      since start
  | some '\\' => fail .propertyInvalid (← nextSpan)
  | some _ =>
      move
      since start

/-- The smallest parts of expressions. -/
inductive Primitive where
  | literal (literal : Literal)
  | dot (span : Span)
  | assertion (assertion : Assertion) (span : Span)
  | letters (letters : Letters) (span : Span)

/-- The assertion that words between braces make of a boundary. -/
def boundaryNamed? : String → Option Assertion
  | "start" => some .wordStart
  | "end" => some .wordEnd
  | "start-half" => some .wordStartHalf
  | "end-half" => some .wordEndHalf
  | _ => none

/-- Whether a character may stand in the name of a boundary. -/
def isBoundaryChar (c : Char) : Bool := c.isAlpha || c == '-'

/-- Reads the braces behind a boundary, unless they are those of a count. -/
def boundary (start : Place) : Reading Assertion := do
  let before ← get
  if before.rest.head? != some '\x7b' then return .boundary
  move
  let inside ← here
  match ← next? with
  | none => fail .boundaryUnfinished (← since start)
  | some c =>
      if isBoundaryChar c then
        let name ← readWhile isBoundaryChar move
        let stop ← here
        if (← next?) != some '\x7d' then fail .boundaryUnclosed (← since before.place)
        advance
        match boundaryNamed? (String.ofList name) with
        | some assertion => return assertion
        | none => fail .boundaryUnknown ⟨inside, stop⟩
      else
        set before
        return .boundary

/-- The set that a letter behind a backslash names, and whether its complement is meant. -/
def namedBy? : Char → Option (Named × Bool)
  | 'd' => some (.digit, false)
  | 'D' => some (.digit, true)
  | 's' => some (.space, false)
  | 'S' => some (.space, true)
  | 'w' => some (.word, false)
  | 'W' => some (.word, true)
  | _ => none

/-- The letter that a letter behind a backslash means. -/
def specialLetter? : Char → Option Char
  | 'a' => some '\x07'
  | 'f' => some '\x0c'
  | 't' => some '\t'
  | 'n' => some '\n'
  | 'r' => some '\r'
  | 'v' => some '\x0b'
  | _ => none

/-- The assertion that a letter behind a backslash means. -/
def assertionBy? : Char → Option Assertion
  | 'A' => some .textStart
  | 'z' => some .textEnd
  | 'B' => some .noBoundary
  | '<' => some .wordStart
  | '>' => some .wordEnd
  | _ => none

/-- How many digits the number of a letter has, by the letter behind the backslash. -/
def hexLength? : Char → Option Nat
  | 'x' => some 2
  | 'u' => some 4
  | 'U' => some 8
  | _ => none

/-- Whether a character stands for itself behind a backslash. -/
def isEscapable (c : Char) : Bool := c.toNat < 0x80 && !c.isAlphanum && c != '<' && c != '>'

/-- Reads what begins with a backslash. -/
def escape : Reading Primitive := do
  let start ← here
  advance
  match ← next? with
  | none => fail .escapeUnfinished (← since start)
  | some c =>
      if c.isDigit then fail .backreference ⟨start, (← nextSpan).stop⟩
      else if let some digits := hexLength? c then
        let braces := (← get).rest.drop 1 |>.head? |> (· == some '\x7b')
        let letter ← hex digits
        return .literal ⟨letter, c == 'x' && !braces, ← since start⟩
      else if c = 'p' || c = 'P' then
        let span ← property start
        return .letters (.property span) span
      else
        advance
        let span ← since start
        if let some (named, negated) := namedBy? c then
          return .letters (.named named negated span) span
        else if isEscapable c then return .literal ⟨c, false, span⟩
        else if let some letter := specialLetter? c then return .literal ⟨letter, false, span⟩
        else if let some assertion := assertionBy? c then return .assertion assertion span
        else if c = 'b' then
          let assertion ← boundary start
          return .assertion assertion (← since start)
        else fail .escapeUnknown span

/-- Reads a letter that is written as itself. -/
def verbatim (c : Char) : Reading Literal := do
  let span ← nextSpan
  advance
  return ⟨c, false, span⟩

/-- Reads a smallest part outside sets. -/
def primitive (c : Char) : Reading Tree := do
  match c with
  | '\\' =>
      match ← escape with
      | .literal literal => return .literal literal
      | .dot span => return .dot span
      | .assertion assertion _ => return .assertion assertion
      | .letters letters _ => return .letters letters
  | '.' =>
      let span ← nextSpan
      advance
      return .dot span
  | '^' =>
      advance
      return .assertion .lineStart
  | '$' =>
      advance
      return .assertion .lineEnd
  | c => return .literal (← verbatim c)

/-- Reads an item of a set. -/
def item (c : Char) : Reading Primitive := do
  if c = '\\' then escape else return .literal (← verbatim c)

/-- An item as a set of its own. -/
def Primitive.asLetters : Primitive → Reading Letters
  | .literal letter => return .letter letter
  | .letters set _ => return set
  | .dot span | .assertion _ span => fail .classEscape span

/-- An item as the first or the last letter of a stretch. -/
def Primitive.asBound : Primitive → Reading Literal
  | .literal letter => return letter
  | .letters _ span | .dot span | .assertion _ span => fail .classRangeBound span

/-- Where an item begins and ends. -/
def Primitive.span : Primitive → Span
  | .literal letter => letter.span
  | .letters _ span | .dot span | .assertion _ span => span

/-- The character behind the next one, where white space and comment signs may not count. -/
def secondNext? : Reading (Option Char) := do
  let progress ← get
  let rest := progress.rest.drop 1
  if progress.spaced then
    let rest := rest.dropWhile Text.isBlank
    return ((if rest.head? = some '#' then (rest.drop 1).dropWhile Text.isBlank else rest)).head?
  else return rest.head?

/-- Reads a letter, a named set or a stretch inside a set that opens in a span. -/
def stretch (opening : Span) (c : Char) : Reading Letters := do
  let first ← item c
  skip
  match ← next? with
  | none => fail .classUnclosed opening
  | some c =>
      let second ← secondNext?
      if c != '-' || second == some ']' || second == some '-' then first.asLetters
      else
        move
        match ← next? with
        | none => fail .classUnclosed opening
        | some c =>
            let last ← item c
            let span : Span := ⟨first.span.start, last.span.stop⟩
            let low ← first.asBound
            let high ← last.asBound
            if high.letter < low.letter then fail .classRangeOrder span
            else return .stretch low high

/-- The named set of ASCII letters at the beginning of a text, whether its complement is meant, and
how long its name is with all that belongs to it. -/
def asciiSet? : List Char → Option (List Stretch × Bool × Nat)
  | '[' :: ':' :: rest =>
      let negated := rest.head? == some '^'
      let rest := if negated then rest.drop 1 else rest
      let name := rest.takeWhile (· != ':')
      match rest.drop name.length, stretchesNamed? (String.ofList name) with
      | ':' :: ']' :: _, some stretches =>
          some (stretches, negated, name.length + (if negated then 5 else 4))
      | _, _ => none
  | _ => none

/-- Reads the dashes at the beginning of a set, which are letters. -/
def leadingDashes (start : Place) : Nat → Letters → Reading Letters
  | 0, letters => return letters
  | fuel + 1, letters => do
      if (← next?) = some '-' then
        let span ← nextSpan
        move
        if (← next?).isNone then fail .classUnclosed ⟨start, start⟩
        leadingDashes start fuel (.union letters (.letter ⟨'-', false, span⟩))
      else return letters

/-- Reads the opening of a set. A closing bracket that comes first is a letter. -/
def opening : Reading (Span × Bool × Letters) := do
  let start ← here
  move
  if (← next?).isNone then fail .classUnclosed (← since start)
  let negated := (← next?) == some '^'
  if negated then
    move
    if (← next?).isNone then fail .classUnclosed (← since start)
  let letters ← leadingDashes start (← get).rest.length .empty
  let empty :=
    match letters with
    | .empty => true
    | _ => false
  if empty && (← next?) == some ']' then
    let span ← nextSpan
    move
    if (← next?).isNone then fail .classUnclosed (← since start)
    return (← since start, negated, .letter ⟨']', false, span⟩)
  else return (← since start, negated, letters)

/-- What a set is made of so far: a set in front of a joint, and the set behind it. -/
structure Halves where
  front : Option (Joint × Letters)
  behind : Letters

/-- The halves as one set. -/
def Halves.whole (halves : Halves) : Letters :=
  match halves.front with
  | some (joint, letters) => .joined joint letters halves.behind
  | none => halves.behind

/-- The halves with more in the set behind. -/
def Halves.add (halves : Halves) (letters : Letters) : Halves :=
  { halves with behind := .union halves.behind letters }

/-- The joint that two characters mean. -/
def joint? (first : Char) (second : Option Char) : Option Joint :=
  match first, second with
  | '&', some '&' => some .common
  | '-', some '-' => some .without
  | '~', some '~' => some .onlyOne
  | _, _ => none

/-- Reads a set up to the bracket that closes it. -/
def setOn (openingSpan : Span) : Nat → Halves → Reading Letters
  | 0, halves => return halves.whole
  | fuel + 1, halves => do
      skip
      let rest := (← get).rest
      match rest with
      | [] => fail .classUnclosed openingSpan
      | ']' :: _ =>
          advance
          return halves.whole
      | '[' :: _ =>
          match asciiSet? rest with
          | some (stretches, negated, length) =>
              let start ← here
              advanceBy length
              setOn openingSpan fuel (halves.add (.ascii stretches negated (← since start)))
          | none =>
              let start ← here
              let (span, negated, letters) ← opening
              let inner ← setOn span fuel ⟨none, letters⟩
              setOn openingSpan fuel
                (halves.add (.bracketed inner negated (← since start)))
      | c :: more =>
          match joint? c more.head? with
          | some joint =>
              advanceBy 2
              setOn openingSpan fuel ⟨some (joint, halves.whole), .empty⟩
          | none => setOn openingSpan fuel (halves.add (← stretch openingSpan c))

/-- Reads a set from the bracket that opens it. -/
def brackets : Reading Letters := do
  let start ← here
  let fuel := (← get).rest.length
  let (span, negated, letters) ← opening
  let inner ← setOn span fuel ⟨none, letters⟩
  return .bracketed inner negated (← since start)

/-- What can be repeated: the last of the trees that were read, which is the first of a list. -/
def repeatable : List Tree → Reading (Tree × List Tree)
  | [] | .flags _ :: _ => do fail .nothingToRepeat (← nothing)
  | tree :: rest => return (tree, rest)

/-- Reads a sign of repetition. -/
def repetition (least : Nat) (most : Option Nat) (trees : List Tree) : Reading (List Tree) := do
  let (tree, rest) ← repeatable trees
  advance
  let _ ← accept "?"
  return .repeated tree least most :: rest

/-- Reads a counted repetition. -/
def counted (trees : List Tree) : Reading (List Tree) := do
  let start ← here
  let (tree, rest) ← repeatable trees
  move
  if (← next?).isNone then fail .countUnclosed (← since start)
  let first ← count
  if (← next?).isNone then fail .countUnclosed (← since start)
  let (least, most) ← (do
    if (← next?) = some ',' then
      move
      if (← next?).isNone then fail .countUnclosed (← since start)
      let least ← first
      if (← next?) = some '\x7d' then return (least, none)
      else
        let most ← (← count)
        return (least, some most)
    else
      let least ← first
      return (least, some least) : Reading (Nat × Option Nat))
  if (← next?) != some '\x7d' then fail .countUnclosed (← since start)
  move
  let _ ← accept "?"
  if most.any (· < least) then fail .countOrder (← since start)
  return .repeated tree least most :: rest

/-- The flag that a letter means. -/
def flagLettered? : Char → Option Flag
  | 'i' => some .caseless
  | 'm' => some .multiLine
  | 's' => some .dotAll
  | 'U' => some .sparing
  | 'u' => some .unicode
  | 'R' => some .carriageReturns
  | 'x' => some .spaced
  | _ => none

/-- What was read of flags: settings, each with its place, and the sign that takes back. -/
structure Flagged where
  settings : List (Setting × Span)
  negation : Option Span
  /-- Whether the sign that takes back came last. -/
  dangling : Bool

/-- Reads flags up to what ends them. -/
def flags : Nat → Flagged → Reading Flagged
  | 0, flagged => return flagged
  | fuel + 1, flagged => do
      match ← next? with
      | none => fail .flagUnfinished (← nothing)
      | some ':' | some ')' => return flagged
      | some '-' =>
          let span ← nextSpan
          if let some first := flagged.negation then
            throw ⟨.flagNegatedTwice, span, some first⟩
          advance
          flags fuel { flagged with negation := some span, dangling := true }
      | some c =>
          let span ← nextSpan
          match flagLettered? c with
          | none => fail .flagUnknown span
          | some flag =>
              if let some first := flagged.settings.find? (·.1.1 = flag) then
                throw ⟨.flagRepeated, span, some first.2⟩
              advance
              flags fuel
                ⟨flagged.settings ++ [((flag, flagged.negation.isNone), span)], flagged.negation,
                  false⟩

/-- Whether a character may stand in the name of a group, at its beginning or behind. -/
def isNameChar (first : Bool) (c : Char) : Bool :=
  c == '_' || (Text.isWordChar c && !(first && Text.isDecimalDigit c))
    || (!first && (c == '.' || c == '[' || c == ']'))

/-- Reads the characters of a name. -/
def nameChars (first : Bool) : Nat → Reading (List Char)
  | 0 => return []
  | fuel + 1 => do
      match ← next? with
      | none => fail .nameUnclosed (← nothing)
      | some '>' => return []
      | some c =>
          if isNameChar first c then
            advance
            return c :: (← nameChars false fuel)
          else fail .nameInvalid (← nextSpan)

/-- Reads the name of a group. -/
def name : Reading Unit := do
  let start ← here
  let chars ← nameChars true ((← get).rest.length + 1)
  let span ← since start
  advance
  if chars.isEmpty then fail .nameEmpty ⟨start, start⟩
  let name := String.ofList chars
  if let some first := (← get).names.find? (·.1 == name) then
    throw ⟨.nameRepeated, span, some first.2⟩
  modify fun progress => { progress with names := progress.names ++ [(name, span)] }

/-- How a parenthesis opens. -/
inductive Opening where
  /-- Settings for all that follows. -/
  | settings (settings : List Setting)
  /-- A group, with settings for what is in it. -/
  | group (settings : List Setting)

/-- Reads flags behind a question mark and what ends them. -/
def flagOpening (paren question : Span) : Reading Opening := do
  if (← next?).isNone then fail .groupUnclosed paren
  let flagged ← flags ((← get).rest.length + 1) ⟨[], none, false⟩
  if let (some span, true) := (flagged.negation, flagged.dangling) then fail .flagDangling span
  let closes := (← next?) == some ')'
  advance
  let settings := flagged.settings.map Prod.fst
  if closes then
    if flagged.settings.isEmpty && flagged.negation.isNone then fail .nothingToRepeat question
    else return .settings settings
  else return .group settings

/-- Reads a parenthesis and what belongs to it. -/
def parenthesis : Reading Opening := do
  let paren ← nextSpan
  move
  let question ← nothing
  if ← acceptAny ["?=", "?!", "?<=", "?<!"] then
    fail .lookAround (← since paren.start)
  else if ← acceptAny ["?P<", "?<"] then
    name
    return .group []
  else if ← accept "?" then flagOpening paren question
  else return .group []

/-- Passes over white space from now on, or no more, if settings say so. -/
def heed (settings : List Setting) : Reading Unit :=
  match settings.find? (·.1 = .spaced) with
  | some setting => modify fun progress => { progress with spaced := setting.2 }
  | none => pure ()

/-- Reads an expression, or a group that opens in a span up to its end. `branches` and `trees` are
what was read before, the last first: of the choices, and of the one that is being read. -/
def expression (opening : Option Span) : Nat → List Tree → List Tree → Reading Tree
  | 0, branches, trees => return .choice (.sequence trees.reverse :: branches).reverse
  | fuel + 1, branches, trees => do
      skip
      let branch := Tree.sequence trees.reverse
      match ← next? with
      | none =>
          match opening with
          | some span => fail .groupUnclosed span
          | none => return .choice (branch :: branches).reverse
      | some ')' =>
          if opening.isNone then fail .groupUnopened (← nextSpan)
          advance
          return .choice (branch :: branches).reverse
      | some '|' =>
          advance
          expression opening fuel (branch :: branches) []
      | some '(' =>
          let span ← nextSpan
          match ← parenthesis with
          | .settings settings =>
              heed settings
              expression opening fuel branches (.flags settings :: trees)
          | .group settings =>
              let spaced := (← get).spaced
              heed settings
              let inner ← expression (some span) fuel [] []
              modify fun progress => { progress with spaced }
              expression opening fuel branches (.group settings inner :: trees)
      | some '[' =>
          let letters ← brackets
          expression opening fuel branches (.letters letters :: trees)
      | some '?' => expression opening fuel branches (← repetition 0 (some 1) trees)
      | some '*' => expression opening fuel branches (← repetition 0 none trees)
      | some '+' => expression opening fuel branches (← repetition 1 none trees)
      | some '\x7b' => expression opening fuel branches (← counted trees)
      | some c => expression opening fuel branches ((← primitive c) :: trees)

end Reading

/-- Reads a text as an expression. -/
def Tree.ofText (text : String) : Except Fault Tree :=
  (Reading.expression none (text.length + 1) [] []).run' ⟨text.toList, ⟨1, 1⟩, false, []⟩

end ScriptRoster.Regular
